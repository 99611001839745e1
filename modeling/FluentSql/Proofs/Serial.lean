import FluentSql.Proofs.Courses
import FluentSql.Proofs.Queueing

/-!
# One after the other

What the invariants of `FluentSql.Proofs.Turns` and `FluentSql.Proofs.Queueing` come to
(`Tasks.Kept`).

* Who is given the lock begins a job, and only who holds it has one, apart from those who open
  connections. So jobs come one at a time, and in the order of the line.
* The line is cleared behind a task that is to close a connection: nobody behind it has picked up
  this connection. So when the closing begins, everybody else who has picked up the connection has
  left the line, given the lock back, and is done.
* What a task has done when it is done can be read off its phase.
-/

namespace FluentSql.Gateway

open FluentSql

namespace Tasks

/-! ### What is true at any time -/

/-- What is true of some tasks at any time. -/
structure Kept (tasks : List Task) (entered finished : List ℕ) (s : Tasks) : Prop where
  kinds : s.tasks.map Prod.fst = tasks
  standing : Standing entered finished s
  queueing : Queueing entered s
  numbers : Numbers tasks s

namespace Kept

variable {tasks : List Task} {entered finished : List ℕ} {s s' : Tasks}

theorem moves (h : Kept tasks entered finished s) {turn : Turn} {i : ℕ}
    (hmoves : Moves s turn i s') :
    Kept tasks (entered ++ turn.entered) (finished ++ turn.finished) s' where
  kinds := by rw [hmoves.kinds, h.kinds]
  standing := h.standing.moves hmoves
  queueing := h.queueing.moves h.standing.nodup hmoves
  numbers := h.numbers.moves h.standing h.kinds hmoves

theorem step (h : Kept tasks entered finished s) {turn : Turn} (hstep : s.step? turn = some s') :
    Kept tasks (entered ++ turn.entered) (finished ++ turn.finished) s' := by
  obtain ⟨i, hone | ⟨m, k, rfl, hpick, hwake⟩⟩ := moves_of_step hstep
  · exact h.moves hone
  · simpa [Turn.entered, Turn.finished] using (h.moves hpick).moves hwake

/-- Before any task has entered. -/
theorem start {gateway : Connection} (hheld : ∀ id, gateway.held = some id → id < gateway.count)
    (tasks : List Task) : Kept tasks [] [] (start gateway tasks) where
  kinds := by simp [Tasks.start, Function.comp_def]
  standing := by
    intro i
    rcases htask : tasks[i]? with _ | t
    · simpa [Tasks.start, htask, own] using Stands.absent
    · simpa [Tasks.start, htask, own] using Stands.fresh t
  queueing := by
    have hfresh : ∀ i : ℕ, holdsLock (Tasks.start gateway tasks).tasks[i]? = false ∧
        waitsForLock (Tasks.start gateway tasks).tasks[i]? = false := by
      intro i
      rcases htask : tasks[i]? with _ | t <;>
        simp [Tasks.start, htask, holdsLock, waitsForLock]
    exact {
      holder_iff := fun i ↦ by rw [(hfresh i).1]; simp [Tasks.start]
      mem_queue_iff := fun i ↦ by rw [(hfresh i).2]; simp [Tasks.start]
      inLine := by simp [Tasks.start, served]
      last := by simp [Tasks.start]
      pickedEntered := by simp [Tasks.start] }
  numbers := by
    have hfresh : ∀ i : ℕ, opening? (Tasks.start gateway tasks).tasks[i]? = none := by
      intro i
      rcases htask : tasks[i]? with _ | t <;> simp [Tasks.start, htask, opening?]
    exact {
      held_lt := hheld
      picked_lt := by simp [Tasks.start]
      opening_lt := by simp [Tasks.start]
      opening_unique := by simp [Tasks.start]
      pending := fun i id hi ↦ by simp [hfresh i] at hi
      open_of_held := by simp [Tasks.start]
      cleared := by simp [Tasks.start] }

end Kept

theorem kept_of_run {gateway : Connection}
    (hheld : ∀ id, gateway.held = some id → id < gateway.count)
    {tasks : List Task} {turns : List Turn} {s : Tasks}
    (hrun : (start gateway tasks).run? turns = some s) :
    Kept tasks (entered turns) (finished turns) s := by
  have hstart : Kept tasks (entered []) (finished []) (start gateway tasks) :=
    Kept.start hheld tasks
  refine of_run (P := fun before s ↦ Kept tasks (entered before) (finished before) s) hstart hrun
    fun before turn s s' _ h hstep ↦ ?_
  simpa [entered, finished] using h.step hstep

/-! ### What it means -/

/-- What somebody does with a connection, they do with the one that they have picked up. -/
theorem id_of_jobOn {t : Task} {id : ℕ} {job : Job} (h : t.jobOn id = .ok job) : job.id = id := by
  cases t with
  | execute sql params =>
    obtain ⟨values, -, hjob⟩ := bind_eq_ok_iff.1 h
    obtain rfl := Except.ok.inj hjob
    rfl
  | connect | disconnect =>
    obtain rfl := Except.ok.inj h
    rfl

theorem eq_disconnect_of_jobOn {t : Task} {id id' : ℕ} (ht : t ≠ .connect)
    (h : t.jobOn id = .ok (.closing id')) : t = .disconnect := by
  cases t with
  | execute sql params =>
    obtain ⟨values, -, hjob⟩ := bind_eq_ok_iff.1 h
    cases hjob
  | connect => exact absurd rfl ht
  | disconnect => rfl

namespace Stands

variable {x : Option (Task × Phase)} {enters ended : ℕ} {picked : List ℕ} {begun : List Job}

theorem of_fresh {t : Task} (h : Stands (some (t, .fresh)) enters picked begun ended) :
    picked = [] ∧ begun = [] := by
  cases h with
  | fresh => exact ⟨rfl, rfl⟩

theorem eq_connect {t : Task} {phase : Phase} {id : ℕ}
    (h : Stands (some (t, phase)) enters picked begun ended)
    (hjob : phase.job? = some (.opening id)) : t = .connect := by
  cases h with
  | opening | opened => rfl
  | working ht hjobOn | worked ht hjobOn =>
    obtain rfl := Option.some.inj hjob
    simpa [Job.needsLock] using needsLock_of_jobOn hjobOn
  | fresh | idle | openedDone | waiting | unread | through => cases hjob

theorem picked_unique (h : Stands x enters picked begun ended) {id id' : ℕ} (hid : id ∈ picked)
    (hid' : id' ∈ picked) : id = id' := by
  cases h <;> simp_all

/-- A job that needs the lock is the job of a task on a connection that it has picked up. -/
theorem of_mem_begun (h : Stands x enters picked begun ended) {job : Job} (hjob : job ∈ begun)
    (hlock : job.needsLock = true) :
    ∃ t phase id, x = some (t, phase) ∧ t ≠ .connect ∧ id ∈ picked ∧ t.jobOn id = .ok job := by
  cases h with
  | absent | fresh | idle | waiting | unread => cases hjob
  | opening | opened | openedDone =>
    obtain rfl := List.mem_singleton.1 hjob
    simp [Job.needsLock] at hlock
  | working ht hjobOn | worked ht hjobOn | through ht hjobOn =>
    obtain rfl := List.mem_singleton.1 hjob
    exact ⟨_, _, _, rfl, ht, List.mem_singleton_self _, hjobOn⟩

/-- A task that has picked up a connection waits for the lock, or holds it, or is done. -/
theorem of_mem_picked (h : Stands x enters picked begun ended) {id : ℕ} (hid : id ∈ picked) :
    waitsForLock x = true ∨ holdsLock x = true ∨ ∃ t result, x = some (t, .done result) := by
  cases h with
  | absent | fresh | idle | opening | opened | openedDone => cases hid
  | waiting => exact Or.inl rfl
  | working ht hjob | worked ht hjob => exact Or.inr (Or.inl (needsLock_of_jobOn hjob))
  | unread | through => exact Or.inr (Or.inr ⟨_, _, rfl⟩)

theorem ranOnce {t : Task} {result : Except Fault Value}
    (h : Stands (some (t, .done result)) enters picked begun ended) {id : ℕ} (hid : id ∈ picked)
    {job : Job} (hjob : t.jobOn id = .ok job) : begun = [job] ∧ ended = 1 := by
  cases h with
  | idle | openedDone => cases hid
  | unread ht hno =>
    obtain rfl := List.mem_singleton.1 hid
    rw [hno] at hjob
    cases hjob
  | through ht hjob' =>
    obtain rfl := List.mem_singleton.1 hid
    rw [hjob'] at hjob
    obtain rfl := Except.ok.inj hjob
    exact ⟨rfl, rfl⟩

theorem notRun {t : Task} {result : Except Fault Value}
    (h : Stands (some (t, .done result)) enters picked begun ended) {id : ℕ} (hid : id ∈ picked)
    {m : Mismatch} (hjob : t.jobOn id = .error m) : result = .error (.mismatch m) ∧ begun = [] := by
  cases h with
  | idle | openedDone => cases hid
  | unread ht hjob' =>
    obtain rfl := List.mem_singleton.1 hid
    rw [hjob'] at hjob
    obtain rfl := Except.error.inj hjob
    exact ⟨rfl, rfl⟩
  | through ht hyes =>
    obtain rfl := List.mem_singleton.1 hid
    rw [hyes] at hjob
    cases hjob

end Stands

namespace Kept

variable {tasks : List Task} {entered finished : List ℕ} {s : Tasks}

theorem task_eq (h : Kept tasks entered finished s) {i : ℕ} {t : Task} {phase : Phase}
    (hi : s.tasks[i]? = some (t, phase)) : tasks[i]? = some t := by
  simp [← h.kinds, hi]

theorem picked_unique (h : Kept tasks entered finished s) {i id id' : ℕ} (hid : (i, id) ∈ s.picked)
    (hid' : (i, id') ∈ s.picked) : id = id' :=
  (h.standing i).picked_unique (mem_own_iff.2 hid) (mem_own_iff.2 hid')

theorem of_mem_begun (h : Kept tasks entered finished s) {b : ℕ × Job} (hb : b ∈ s.begun)
    (hlock : b.2.needsLock = true) :
    ∃ t, tasks[b.1]? = some t ∧ t ≠ .connect ∧ t.jobOn b.2.id = .ok b.2 ∧
      (b.1, b.2.id) ∈ s.picked := by
  obtain ⟨t, phase, id, hx, ht, hid, hjob⟩ :=
    (h.standing b.1).of_mem_begun (mem_own_iff.2 hb) hlock
  obtain rfl := id_of_jobOn hjob
  exact ⟨t, h.task_eq hx, ht, hjob, mem_own_iff.1 hid⟩

/-- Who stands in line behind a task that is to close a connection has picked up another. -/
theorem line_cleared (h : Kept tasks entered finished s) :
    (served s.begun ++ s.queue).Pairwise fun k i ↦
      tasks[k]? = some .disconnect → ∀ id, (k, id) ∈ s.picked → (i, id) ∉ s.picked := by
  obtain ⟨line, hline, hmap⟩ := List.sublist_map_iff.1 h.queueing.inLine
  rw [hmap, List.pairwise_map]
  refine (h.numbers.cleared.sublist hline).imp_of_mem
    fun {p q} hp hq hcleared hclose id hid hid' ↦ ?_
  have hp_id := h.picked_unique hid (hline.subset hp)
  have hq_id := h.picked_unique hid' (hline.subset hq)
  exact hcleared hclose (hq_id.symm.trans hp_id)

/-- After the closing of a connection has begun, nothing else begins on it. -/
theorem closedLast (h : Kept tasks entered finished s) {before after : List (ℕ × Job)} {k id : ℕ}
    (hbegun : s.begun = before ++ (k, .closing id) :: after) {b : ℕ × Job} (hb : b ∈ after)
    (hlock : b.2.needsLock = true) : b.2.id ≠ id := by
  rintro rfl
  obtain ⟨t, htask, ht, hjob, hpicked⟩ :=
    h.of_mem_begun (b := (k, .closing b.2.id)) (by simp [hbegun]) rfl
  obtain rfl := eq_disconnect_of_jobOn ht hjob
  obtain ⟨-, -, -, -, hpicked'⟩ := h.of_mem_begun (b := b) (by simp [hbegun, hb]) hlock
  have hline := h.line_cleared
  have hserved : served s.begun = served before ++ k :: served after := by
    simp [hbegun, served, Job.needsLock]
  rw [hserved, List.append_assoc, List.cons_append, List.pairwise_append,
    List.pairwise_cons] at hline
  have hmem : b.1 ∈ served after := mem_served hb hlock
  exact hline.2.1.1 b.1 (List.mem_append_left _ hmem) htask _ hpicked hpicked'

/-- When the closing of a connection has begun, everybody else who has picked it up is done. -/
theorem closingWaits (h : Kept tasks entered finished s) {k id : ℕ}
    (hk : (k, .closing id) ∈ s.begun) {i : ℕ} (hi : (i, id) ∈ s.picked) (hne : i ≠ k) :
    ∃ t result, s.tasks[i]? = some (t, .done result) := by
  obtain ⟨t, htask, ht, hjob, hpicked⟩ := h.of_mem_begun hk rfl
  obtain rfl := eq_disconnect_of_jobOn ht hjob
  have hserved : k ∈ served s.begun := mem_served hk rfl
  have hline := h.line_cleared
  rw [List.pairwise_append] at hline
  rcases (h.standing i).of_mem_picked (mem_own_iff.2 hi) with hwaits | hholds | hdone
  · have hqueue := (h.queueing.mem_queue_iff i).2 hwaits
    exact absurd hi (hline.2.2 k hserved i hqueue htask id hpicked)
  · -- Who holds the lock has been given it last, so the other task was given it before.
    have hlast := h.queueing.last i ((h.queueing.holder_iff i).2 hholds)
    obtain ⟨first, hfirst⟩ := List.getLast?_eq_some_iff.1 hlast
    rw [hfirst] at hserved hline
    rcases List.mem_append.1 hserved with hbefore | hself
    · have hcleared := (List.pairwise_append.1 hline.1).2.2 k hbefore i (List.mem_singleton_self i)
      exact absurd hi (hcleared htask id hpicked)
    · exact absurd (List.mem_singleton.1 hself).symm hne
  · exact hdone

/-- A statement that is done has run exactly once on the connection that it had picked up. -/
theorem ranOnce (h : Kept tasks entered finished s) {i id : ℕ} {sql params : Value}
    {values : List Value} {result : Except Fault Value} (hi : (i, id) ∈ s.picked)
    (hdone : s.tasks[i]? = some (.execute sql params, .done result))
    (hparams : params.members = .ok values) :
    own s.begun i = [.statement id sql values] ∧ finished.count i = 1 := by
  have hstands := h.standing i
  rw [hdone] at hstands
  have hjob : (Task.execute sql params).jobOn id = .ok (.statement id sql values) := by
    simp [Task.jobOn, hparams, bind, Except.bind, pure, Except.pure]
  exact hstands.ranOnce (mem_own_iff.2 hi) hjob

theorem notRun (h : Kept tasks entered finished s) {i id : ℕ} {sql params : Value} {m : Mismatch}
    {result : Except Fault Value} (hi : (i, id) ∈ s.picked)
    (hdone : s.tasks[i]? = some (.execute sql params, .done result))
    (hparams : params.members = .error m) :
    result = .error (.mismatch m) ∧ own s.begun i = [] := by
  have hstands := h.standing i
  rw [hdone] at hstands
  have hjob : (Task.execute sql params).jobOn id = .error m := by
    simp [Task.jobOn, hparams, bind, Except.bind]
  exact hstands.notRun (mem_own_iff.2 hi) hjob

/-- At most one worker at a time uses or closes a connection. -/
theorem alone (h : Kept tasks entered finished s) {i j : ℕ} {t t' : Task} {job job' : Job}
    (hi : s.tasks[i]? = some (t, .working job)) (hj : s.tasks[j]? = some (t', .working job'))
    (hlock : job.needsLock = true) (hlock' : job'.needsLock = true) : i = j := by
  have hholder := (h.queueing.holder_iff i).2 (by simp [hi, holdsLock, hlock])
  have hholder' := (h.queueing.holder_iff j).2 (by simp [hj, holdsLock, hlock'])
  exact Option.some.inj (hholder.symm.trans hholder')

/-- As long as a task that has entered is not done, there is something to wait for. -/
theorem exists_step (h : Kept tasks entered finished s) {i : ℕ} {t : Task} {phase : Phase}
    (hi : s.tasks[i]? = some (t, phase)) (hfresh : phase ≠ .fresh)
    (hdone : ∀ result, phase ≠ .done result) :
    ∃ turn s', turn.entered = [] ∧ s.step? turn = some s' := by
  have hworks : ∀ (k : ℕ) {t job}, s.tasks[k]? = some (t, .working job) →
      ∃ turn s', turn.entered = [] ∧ s.step? turn = some s' :=
    fun k _ _ hk ↦ ⟨.finish k, _, rfl, by simp [step?, finish, hk]; rfl⟩
  have hworked : ∀ (k : ℕ) {t job result}, s.tasks[k]? = some (t, .worked job result) →
      ∃ turn s', turn.entered = [] ∧ s.step? turn = some s' :=
    fun k _ _ _ hk ↦ ⟨.resume k, _, rfl, by simp [step?, resume, hk]; rfl⟩
  cases phase with
  | fresh => exact absurd rfl hfresh
  | done result => exact absurd rfl (hdone result)
  | working job => exact hworks i hi
  | worked job result => exact hworked i hi
  | waiting id =>
    rcases hholder : s.holder with _ | k
    · -- The lock is free, and whoever is at the head of the line can take it.
      have hqueue := (h.queueing.mem_queue_iff i).2 (by simp [hi, waitsForLock])
      obtain ⟨k, rest, hline⟩ := List.exists_cons_of_ne_nil (List.ne_nil_of_mem hqueue)
      obtain ⟨t', id', hk⟩ :=
        exists_of_waitsForLock ((h.queueing.mem_queue_iff k).1 (by simp [hline]))
      exact ⟨.wake, _, rfl, by simp [step?, wake, hholder, hline, hk]; rfl⟩
    · rcases working_or_worked_of_holdsLock ((h.queueing.holder_iff k).1 hholder) with
        ⟨t', job, hk⟩ | ⟨t', job, result, hk⟩
      · exact hworks k hk
      · exact hworked k hk

end Kept

end Tasks

end FluentSql.Gateway
