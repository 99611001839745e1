import FluentSql.Gateway.Tasks
import FluentSql.Proofs.Basic

/-!
# Turns of tasks on a shared connection

What one turn can do (`Tasks.Moves`), and what is true of each task alone: how far it has come tells
what it has done so far, and nothing that other tasks do changes either (`Tasks.Standing`).

A task that enters and is given the lock at once makes two moves in one turn: it gets in line, and
then the head of the line is given the lock. So what is proved of single moves covers both ways to
the lock.
-/

namespace FluentSql.Gateway

open FluentSql

/-- The number of the connection that a job is about. -/
def Job.id : Job → ℕ
  | .opening id | .statement id _ _ | .closing id => id

/-- The job needs the lock: it uses or closes a connection. -/
def Job.needsLock : Job → Bool
  | .opening _ => false
  | _ => true

/-- The job that a task has given to a worker and has not gone on after. -/
def Phase.job? : Phase → Option Job
  | .working job | .worked job _ => some job
  | _ => none

namespace Tasks

/-- The tasks that enter in a turn. -/
def Turn.entered : Turn → List ℕ
  | .enter i => [i]
  | _ => []

/-- The tasks whose workers end in a turn. -/
def Turn.finished : Turn → List ℕ
  | .finish i => [i]
  | _ => []

/-- What a task has in a list. -/
def own {α : Type} (l : List (ℕ × α)) (i : ℕ) : List α :=
  (l.filter fun p ↦ p.1 == i).map Prod.snd

section Own

variable {α : Type} {l : List (ℕ × α)} {i j : ℕ} {a : α}

theorem own_append_self : own (l ++ [(i, a)]) i = own l i ++ [a] := by
  simp [own]

theorem own_append_of_ne (h : j ≠ i) : own (l ++ [(j, a)]) i = own l i := by
  simp [own, h]

theorem mem_own_iff : a ∈ own l i ↔ (i, a) ∈ l := by
  simp [own]

end Own

theorem map_fst_setPhase {s : Tasks} {i : ℕ} {phase : Phase} :
    (s.setPhase i phase).tasks.map Prod.fst = s.tasks.map Prod.fst := by
  refine List.ext_getElem? fun j ↦ ?_
  by_cases h : i = j <;> simp [setPhase, h, Function.comp_def]

/-! ### Moves -/

/-- The result of a task that has nothing to do, given which connection is held. -/
def idleResult : Task → Option ℕ → Option (Except Fault Value)
  | .connect, some _ | .disconnect, none => some (.ok .null)
  | .execute _ _, none => some (.error Connection.notConnected)
  | _, _ => none

/-- What a turn can do, if a task that enters is not given the lock in the same turn, and which task
it moves on. -/
inductive Moves (s : Tasks) : Turn → ℕ → Tasks → Prop
  /-- There is nothing to do for the task. -/
  | idles {i : ℕ} {t : Task} {result : Except Fault Value} (hi : s.tasks[i]? = some (t, .fresh))
    (hidle : idleResult t s.gateway.held = some result) :
    Moves s (.enter i) i (s.setPhase i (.done result))
  | opens {i : ℕ} (hi : s.tasks[i]? = some (.connect, .fresh)) (hnone : s.gateway.held = none) :
    Moves s (.enter i) i
      ({ s with gateway := { s.gateway with count := s.gateway.count + 1 } }.begin i
        (.opening s.gateway.count))
  /-- The task picks up the connection that is held, and if it is to close it, nothing is held any
  more. -/
  | picks {i id : ℕ} {t : Task} {gateway : Connection} (hi : s.tasks[i]? = some (t, .fresh))
    (ht : t ≠ .connect) (hheld : s.gateway.held = some id)
    (hcount : gateway.count = s.gateway.count) (htrace : gateway.trace = s.gateway.trace)
    (hkept : gateway.held = none ∨ gateway.held = some id ∧ t ≠ .disconnect) :
    Moves s (.enter i) i ({ s with gateway }.pick i id)
  | unread {i id : ℕ} {t : Task} {rest : List ℕ} {m : Mismatch} (hfree : s.holder = none)
    (hqueue : s.queue = i :: rest) (hi : s.tasks[i]? = some (t, .waiting id))
    (hjob : t.jobOn id = .error m) :
    Moves s .wake i ({ s with queue := rest }.setPhase i (.done (.error (.mismatch m))))
  | granted {i id : ℕ} {t : Task} {rest : List ℕ} {job : Job} (hfree : s.holder = none)
    (hqueue : s.queue = i :: rest) (hi : s.tasks[i]? = some (t, .waiting id))
    (hjob : t.jobOn id = .ok job) :
    Moves s .wake i { { s with queue := rest }.begin i job with holder := some i }
  | finishes {i : ℕ} {t : Task} {job : Job} (hi : s.tasks[i]? = some (t, .working job)) :
    Moves s (.finish i) i
      ({ s with gateway := (s.gateway.work job).2 }.setPhase i
        (.worked job (s.gateway.work job).1))
  | resumes {i : ℕ} {t : Task} {job : Job} {result : Except Fault Value}
    (hi : s.tasks[i]? = some (t, .worked job result)) :
    Moves s (.resume i) i
      { s.setPhase i (.done result) with
        gateway := s.gateway.conclude job result, holder := s.holderAfter job }

theorem moves_of_wake {s s' : Tasks} (h : s.wake = some s') : ∃ i, Moves s .wake i s' := by
  unfold wake at h
  split at h
  · next i rest hfree hqueue =>
    split at h
    · next t id hi =>
      obtain rfl := Option.some.inj h
      unfold grant
      split
      · next m hjob => exact ⟨i, .unread hfree hqueue hi hjob⟩
      · next job hjob => exact ⟨i, .granted hfree hqueue hi hjob⟩
    · cases h
  · cases h

/-- A task that asks for the lock gets in line, and perhaps it is given the lock. -/
theorem acquire_cases (s : Tasks) (i id : ℕ) :
    s.acquire i id = s.pick i id ∨ ∃ k, Moves (s.pick i id) .wake k (s.acquire i id) := by
  unfold acquire
  split
  · rcases hwake : (s.pick i id).wake with _ | s'
    · exact Or.inl (by simp [hwake])
    · exact Or.inr (by simpa [hwake] using moves_of_wake hwake)
  · exact Or.inl rfl

/-- What a turn does is one move, or two if a task enters and is given the lock at once. -/
theorem moves_of_step {s s' : Tasks} {turn : Turn} (h : s.step? turn = some s') :
    ∃ i, Moves s turn i s' ∨ ∃ m k, turn = .enter i ∧ Moves s turn i m ∧ Moves m .wake k s' := by
  cases turn with
  | enter i =>
    simp only [step?, enter] at h
    split at h
    · next hi =>
      split at h
      · next hheld =>
        obtain rfl := Option.some.inj h
        exact ⟨i, Or.inl (.idles hi (by rw [hheld]; rfl))⟩
      · next hnone =>
        obtain rfl := Option.some.inj h
        exact ⟨i, Or.inl (.opens hi hnone)⟩
    · next hi =>
      split at h
      · next hheld =>
        obtain rfl := Option.some.inj h
        exact ⟨i, Or.inl (.idles hi (by rw [hheld]; rfl))⟩
      · next id hheld =>
        obtain rfl := Option.some.inj h
        have hpick : Moves s (.enter i) i
            ({ s with gateway := { s.gateway with held := none } }.pick i id) :=
          .picks hi nofun hheld rfl rfl (Or.inl rfl)
        rcases acquire_cases { s with gateway := { s.gateway with held := none } } i id with
          hacquire | ⟨k, hwake⟩
        · exact ⟨i, Or.inl (hacquire ▸ hpick)⟩
        · exact ⟨i, Or.inr ⟨_, k, rfl, hpick, hwake⟩⟩
    · next hi =>
      split at h
      · next hheld =>
        obtain rfl := Option.some.inj h
        exact ⟨i, Or.inl (.idles hi (by rw [hheld]; rfl))⟩
      · next id hheld =>
        obtain rfl := Option.some.inj h
        have hpick : Moves s (.enter i) i (s.pick i id) :=
          .picks hi nofun hheld rfl rfl (Or.inr ⟨hheld, nofun⟩)
        rcases acquire_cases s i id with hacquire | ⟨k, hwake⟩
        · exact ⟨i, Or.inl (hacquire ▸ hpick)⟩
        · exact ⟨i, Or.inr ⟨_, k, rfl, hpick, hwake⟩⟩
    · cases h
  | wake =>
    obtain ⟨i, hmoves⟩ := moves_of_wake h
    exact ⟨i, Or.inl hmoves⟩
  | finish i =>
    simp only [step?, finish] at h
    split at h
    · next hi =>
      obtain rfl := Option.some.inj h
      exact ⟨i, Or.inl (.finishes hi)⟩
    · cases h
  | resume i =>
    simp only [step?, resume] at h
    split at h
    · next hi =>
      obtain rfl := Option.some.inj h
      exact ⟨i, Or.inl (.resumes hi)⟩
    · cases h

/-! ### Each task alone -/

/-- How far a task has come, and what it has done so far: how often it has entered, which
connections it has picked up, which jobs it has given to workers, and how often its workers have
ended. -/
inductive Stands : Option (Task × Phase) → ℕ → List ℕ → List Job → ℕ → Prop
  /-- There is no such task. -/
  | absent : Stands none 0 [] [] 0
  | fresh (t : Task) : Stands (some (t, .fresh)) 0 [] [] 0
  | idle (t : Task) (result : Except Fault Value) : Stands (some (t, .done result)) 1 [] [] 0
  | opening (id : ℕ) : Stands (some (.connect, .working (.opening id))) 1 [] [.opening id] 0
  | opened (id : ℕ) (result : Except Fault Value) :
    Stands (some (.connect, .worked (.opening id) result)) 1 [] [.opening id] 1
  | openedDone (id : ℕ) (result : Except Fault Value) :
    Stands (some (.connect, .done result)) 1 [] [.opening id] 1
  | waiting {t : Task} (ht : t ≠ .connect) (id : ℕ) : Stands (some (t, .waiting id)) 1 [id] [] 0
  | unread {t : Task} (ht : t ≠ .connect) {id : ℕ} {m : Mismatch} (hjob : t.jobOn id = .error m) :
    Stands (some (t, .done (.error (.mismatch m)))) 1 [id] [] 0
  | working {t : Task} (ht : t ≠ .connect) {id : ℕ} {job : Job} (hjob : t.jobOn id = .ok job) :
    Stands (some (t, .working job)) 1 [id] [job] 0
  | worked {t : Task} (ht : t ≠ .connect) {id : ℕ} {job : Job} (hjob : t.jobOn id = .ok job)
    (result : Except Fault Value) : Stands (some (t, .worked job result)) 1 [id] [job] 1
  | through {t : Task} (ht : t ≠ .connect) {id : ℕ} {job : Job} (hjob : t.jobOn id = .ok job)
    (result : Except Fault Value) : Stands (some (t, .done result)) 1 [id] [job] 1

namespace Stands

variable {t : Task} {id enters ended : ℕ} {picked : List ℕ} {begun : List Job}

theorem idles (h : Stands (some (t, .fresh)) enters picked begun ended)
    (result : Except Fault Value) :
    Stands (some (t, .done result)) (enters + 1) picked begun ended := by
  cases h with
  | fresh => exact .idle t result

theorem opens (h : Stands (some (.connect, .fresh)) enters picked begun ended) (id : ℕ) :
    Stands (some (.connect, .working (.opening id))) (enters + 1) picked (begun ++ [.opening id])
      ended := by
  cases h with
  | fresh => exact .opening id

theorem picks (h : Stands (some (t, .fresh)) enters picked begun ended) (ht : t ≠ .connect)
    (id : ℕ) : Stands (some (t, .waiting id)) (enters + 1) (picked ++ [id]) begun ended := by
  cases h with
  | fresh => exact .waiting ht id

theorem failsToRead (h : Stands (some (t, .waiting id)) enters picked begun ended) {m : Mismatch}
    (hjob : t.jobOn id = .error m) :
    Stands (some (t, .done (.error (.mismatch m)))) enters picked begun ended := by
  cases h with
  | waiting ht => exact .unread ht hjob

theorem granted (h : Stands (some (t, .waiting id)) enters picked begun ended) {job : Job}
    (hjob : t.jobOn id = .ok job) :
    Stands (some (t, .working job)) enters picked (begun ++ [job]) ended := by
  cases h with
  | waiting ht => exact .working ht hjob

theorem finishes {job : Job} (h : Stands (some (t, .working job)) enters picked begun ended)
    (result : Except Fault Value) :
    Stands (some (t, .worked job result)) enters picked begun (ended + 1) := by
  cases h with
  | opening id => exact .opened id result
  | working ht hjob => exact .worked ht hjob result

theorem resumes {job : Job} {result : Except Fault Value}
    (h : Stands (some (t, .worked job result)) enters picked begun ended) :
    Stands (some (t, .done result)) enters picked begun ended := by
  cases h with
  | opened id => exact .openedDone id result
  | worked ht hjob => exact .through ht hjob result

/-- The job that a task is at is one that it has given to a worker. -/
theorem mem_begun {phase : Phase} {job : Job}
    (h : Stands (some (t, phase)) enters picked begun ended) (hjob : phase.job? = some job) :
    job ∈ begun := by
  cases h <;> simp_all [Phase.job?]

theorem enters_le_one {x : Option (Task × Phase)} (h : Stands x enters picked begun ended) :
    enters ≤ 1 := by
  cases h <;> simp

end Stands

/-- Each task has done what its phase tells. -/
def Standing (entered finished : List ℕ) (s : Tasks) : Prop :=
  ∀ i, Stands s.tasks[i]? (entered.count i) (own s.picked i) (own s.begun i) (finished.count i)

/-- No task enters twice. -/
theorem Standing.nodup {s : Tasks} {entered finished : List ℕ} (h : Standing entered finished s) :
    entered.Nodup :=
  List.nodup_iff_count_le_one.2 fun i ↦ (h i).enters_le_one

/-- Tasks remain the tasks that they are. -/
theorem Moves.kinds {s s' : Tasks} {turn : Turn} {i : ℕ} (h : Moves s turn i s') :
    s'.tasks.map Prod.fst = s.tasks.map Prod.fst := by
  cases h <;> simp only [pick, begin, map_fst_setPhase]

/-- A move leaves everything that other tasks have done as it is. -/
theorem Moves.of_ne {s s' : Tasks} {turn : Turn} {i j : ℕ} (h : Moves s turn i s') (hne : i ≠ j) :
    s'.tasks[j]? = s.tasks[j]? ∧ own s'.picked j = own s.picked j ∧
      own s'.begun j = own s.begun j ∧ turn.entered.count j = 0 ∧ turn.finished.count j = 0 := by
  cases h <;>
    simp [setPhase, begin, pick, own_append_of_ne, Turn.entered, Turn.finished, hne]

theorem Standing.moves {s s' : Tasks} {turn : Turn} {i : ℕ} {entered finished : List ℕ}
    (h : Standing entered finished s) (hmoves : Moves s turn i s') :
    Standing (entered ++ turn.entered) (finished ++ turn.finished) s' := by
  intro j
  have hj := h j
  rcases eq_or_ne i j with rfl | hne
  · cases hmoves with
    | idles hi =>
      rw [hi] at hj
      simpa [setPhase, hi, Turn.entered, Turn.finished] using hj.idles _
    | opens hi hnone =>
      rw [hi] at hj
      simpa [begin, setPhase, hi, own_append_self, Turn.entered, Turn.finished] using
        hj.opens s.gateway.count
    | @picks _ id _ _ hi ht =>
      rw [hi] at hj
      simpa [pick, setPhase, hi, own_append_self, Turn.entered, Turn.finished] using hj.picks ht id
    | unread hfree hqueue hi hjob =>
      rw [hi] at hj
      simpa [setPhase, hi, Turn.entered, Turn.finished] using hj.failsToRead hjob
    | granted hfree hqueue hi hjob =>
      rw [hi] at hj
      simpa [begin, setPhase, hi, own_append_self, Turn.entered, Turn.finished] using
        hj.granted hjob
    | finishes hi =>
      rw [hi] at hj
      simpa [setPhase, hi, Turn.entered, Turn.finished] using hj.finishes _
    | resumes hi =>
      rw [hi] at hj
      simpa [setPhase, hi, Turn.entered, Turn.finished] using hj.resumes
  · obtain ⟨htask, hpicked, hbegun, hentered, hfinished⟩ := hmoves.of_ne hne
    rw [htask, hpicked, hbegun, List.count_append, List.count_append, hentered, hfinished]
    exact hj

end Tasks

end FluentSql.Gateway
